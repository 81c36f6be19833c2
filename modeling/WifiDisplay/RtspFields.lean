import WifiDisplay.RtspMessages
import WifiDisplay.RtspSegmentation
import Mathlib.Data.List.Nodup

/-! What `ParseMessage` makes of a printed message: its first line, header fields
each on a line of its own, the empty line, and the rest. -/

namespace WifiDisplay

open TextSplit

/-- Free of the letters of a line end. -/
def LineText (s : Text) : Prop := '\r' ∉ s ∧ '\n' ∉ s

/-- No blank at either end. -/
def Trimmed (s : Text) : Prop := s.head? ≠ some ' ' ∧ s.getLast? ≠ some ' '

instance (s : Text) : Decidable (LineText s) := inferInstanceAs (Decidable (_ ∧ _))

instance (s : Text) : Decidable (Trimmed s) := inferInstanceAs (Decidable (_ ∧ _))

theorem LineText.append {s t : Text} (hs : LineText s) (ht : LineText t) : LineText (s ++ t) := by
  simp only [LineText, List.mem_append, not_or]
  exact ⟨⟨hs.1, ht.1⟩, hs.2, ht.2⟩

theorem lineText_decimal (n : Int) : LineText (decimal n) :=
  ⟨not_mem_decimal (by decide) (by decide) n, not_mem_decimal (by decide) (by decide) n⟩

theorem trimmed_decimal (n : Int) : Trimmed (decimal n) := by
  have hblank : ' ' ∉ decimal n := not_mem_decimal (by decide) (by decide) n
  constructor
  · intro h
    exact hblank (List.mem_of_head? h)
  · intro h
    exact hblank (List.mem_of_getLast? h)

namespace RtspCommon

theorem dropWhile_blank {s : Text} (h : s.head? ≠ some ' ') : s.dropWhile (· = ' ') = s := by
  cases s with
  | nil => rfl
  | cons c s =>
    have hc : c ≠ ' ' := by simpa using h
    rw [List.dropWhile_cons_of_neg (by simpa using hc)]

theorem not_all_blank {s : Text} (h : s.head? ≠ some ' ') (hne : s ≠ []) :
    ¬ s.all (· = ' ') = true := by
  cases s with
  | nil => exact absurd rfl hne
  | cons c s =>
    have hc : c ≠ ' ' := by simpa using h
    simp [hc]

theorem trim_of_trimmed {s : Text} (h : Trimmed s) : trim s = s := by
  by_cases hne : s = []
  · simp [hne, trim]
  · rw [trim, if_neg (not_all_blank h.1 hne), dropWhile_blank h.1, dropWhile_blank,
      List.reverse_reverse]
    rw [List.head?_reverse]
    exact h.2

theorem trim_blank_cons {s : Text} (h : Trimmed s) (hne : s ≠ []) : trim (' ' :: s) = s := by
  have hall : ¬ (' ' :: s).all (· = ' ') = true := by simpa using not_all_blank h.1 hne
  rw [trim, if_neg hall, List.dropWhile_cons_of_pos (by simp), dropWhile_blank h.1, dropWhile_blank,
    List.reverse_reverse]
  rw [List.head?_reverse]
  exact h.2

end RtspCommon

/-- A header field whose line the parser takes apart as it was put together. -/
structure IsField (f : Text × Text) : Prop where
  name_ne_nil : f.1 ≠ []
  name_colon : ':' ∉ f.1
  name_line : LineText f.1
  name_trimmed : Trimmed f.1
  value_line : LineText f.2
  long : 3 < f.1.length + 2 + f.2.length

namespace IsField

variable {f : Text × Text}

theorem line (h : IsField f) : LineText (field f.1 f.2) := by
  have hsep : LineText (':' :: rtspSp) := by decide
  exact (h.name_line.append hsep).append h.value_line

theorem line_ne_nil (f : Text × Text) : field f.1 f.2 ≠ [] := by simp [field]

theorem idxOf_colon (h : IsField f) : (field f.1 f.2).idxOf ':' = f.1.length := by
  rw [field, List.append_assoc, List.idxOf_append_of_notMem h.name_colon, List.cons_append,
    List.idxOf_cons_self, Nat.add_zero]

theorem length_pos (h : IsField f) : f.1.length ≠ 0 :=
  fun h0 => h.name_ne_nil (List.length_eq_zero_iff.mp h0)

end IsField

theorem length_field (f : Text × Text) :
    (field f.1 f.2).length = f.1.length + 2 + f.2.length := by
  simp only [field, rtspSp, List.length_append, List.length_cons, List.length_nil]

theorem take_field (f : Text × Text) : (field f.1 f.2).take f.1.length = f.1 := by
  rw [field, List.append_assoc, List.take_left]

theorem drop_field (f : Text × Text) :
    (field f.1 f.2).drop (f.1.length + 1) = ' ' :: f.2 := by
  rw [field, List.append_assoc, ← List.drop_drop, List.drop_left]
  rfl

/-- A name whose fields are longer than the lines that are passed over. -/
def IsName (name : Text) : Prop :=
  2 ≤ name.length ∧ ':' ∉ name ∧ LineText name ∧ Trimmed name

instance (name : Text) : Decidable (IsName name) := inferInstanceAs (Decidable (_ ∧ _))

theorem IsName.isField {name value : Text} (hname : IsName name) (hvalue : LineText value) :
    IsField (name, value) where
  name_ne_nil := by
    rintro rfl
    exact absurd hname.1 (by simp)
  name_colon := hname.2.1
  name_line := hname.2.2.1
  name_trimmed := hname.2.2.2
  value_line := hvalue
  long := by
    have hlen := hname.1
    simp only
    omega

/-- The value the parser keeps of the field `f`. -/
def readField (f : Text × Text) : Text × Text := (f.1, RtspCommon.trim (' ' :: f.2))

/-- A challenge that is no digest is passed over. -/
def IsKept (f : Text × Text) : Bool :=
  ¬ (f.1 = rtspTokenWwwAuthenticate ∧
    (breakOn "Digest".toList (RtspCommon.trim (' ' :: f.2))).isNone)

theorem isKept_iff {f : Text × Text} : IsKept f ↔ ¬ (f.1 = rtspTokenWwwAuthenticate ∧
    (breakOn "Digest".toList (RtspCommon.trim (' ' :: f.2))).isNone) := by
  rw [IsKept, decide_eq_true_eq]

theorem isKept_of_name {f : Text × Text} (h : f.1 ≠ rtspTokenWwwAuthenticate) : IsKept f :=
  isKept_iff.mpr fun hf => h hf.1

theorem readField_of_trimmed {f : Text × Text} (h : Trimmed f.2) (hne : f.2 ≠ []) :
    readField f = f := by
  rw [readField, RtspCommon.trim_blank_cons h hne]

namespace RtspCommon

theorem lineField_field {f : Text × Text} (h : IsField f) :
    lineField (field f.1 f.2) = some (readField f) := by
  have hpos := h.length_pos
  have hlong := h.long
  simp only [lineField, h.idxOf_colon, length_field, take_field, drop_field,
    trim_of_trimmed h.name_trimmed]
  rw [if_pos ⟨hlong, hpos, by omega, by omega⟩]
  rfl

theorem isForeignChallenge_field {f : Text × Text} (h : IsField f) :
    isForeignChallenge (field f.1 f.2) = !IsKept f := by
  simp only [isForeignChallenge, lineField_field h, IsKept, readField, Bool.decide_and, decide_not,
    Bool.not_not, Bool.decide_eq_true]

theorem addLine_field {f : Text × Text} (h : IsField f) (header : Tokens) :
    addLine header (field f.1 f.2) = Tokens.emplace header f.1 (readField f).2 := by
  rw [addLine, lineField_field h]
  rfl

end RtspCommon

section ReadUpTo

variable {α β : Type}

/-- What a loop reads that stops behind `left + 1` items, where an item that is `passed` also
passes over the test. -/
def readUpTo (passed : α → Bool) : Nat → List α → List α
  | _, [] => []
  | left, a :: as =>
    a :: if passed a = false ∧ left = 0 then [] else readUpTo passed (left - 1) as

variable {passed passed' : α → Bool}

theorem readUpTo_initial (left : Nat) (as : List α) : readUpTo passed left as <+: as := by
  induction as generalizing left with
  | nil => simp [readUpTo]
  | cons a as ih =>
    rw [readUpTo, List.cons_prefix_cons]
    split
    · exact ⟨rfl, List.nil_prefix⟩
    · exact ⟨rfl, ih _⟩

theorem take_prefix_readUpTo (left : Nat) (as : List α) :
    as.take (left + 1) <+: readUpTo passed left as := by
  induction as generalizing left with
  | nil => simp [readUpTo]
  | cons a as ih =>
    rw [readUpTo, List.take_succ_cons, List.cons_prefix_cons]
    refine ⟨rfl, ?_⟩
    cases left with
    | zero => simp
    | succ left => simpa using ih left

theorem readUpTo_of_length_le {left : Nat} {as : List α} (h : as.length ≤ left + 1) :
    readUpTo passed left as = as := by
  have hwhole : as <+: readUpTo passed left as := by
    have htake : as.take (left + 1) <+: readUpTo passed left as := take_prefix_readUpTo left as
    rwa [List.take_of_length_le h] at htake
  exact (readUpTo_initial left as).eq_of_length_le hwhole.length_le

/-- Where nothing is passed over the limit holds. -/
theorem readUpTo_eq_take {as : List α} (h : ∀ a ∈ as, passed a = false) (left : Nat) :
    readUpTo passed left as = as.take (left + 1) := by
  induction as generalizing left with
  | nil => simp [readUpTo]
  | cons a as ih =>
    rw [readUpTo, List.take_succ_cons]
    cases left with
    | zero => simp [h a (by simp)]
    | succ left =>
      rw [if_neg (by simp), Nat.add_sub_cancel, ih fun b hb => h b (by simp [hb])]

theorem readUpTo_congr {as : List α} (h : ∀ a ∈ as, passed a = passed' a) (left : Nat) :
    readUpTo passed left as = readUpTo passed' left as := by
  induction as generalizing left with
  | nil => rfl
  | cons a as ih => rw [readUpTo, readUpTo, h a (by simp), ih fun b hb => h b (by simp [hb])]

theorem readUpTo_map (f : β → α) (left : Nat) (bs : List β) :
    readUpTo passed left (bs.map f) = (readUpTo (passed ∘ f) left bs).map f := by
  induction bs generalizing left with
  | nil => rfl
  | cons b bs ih =>
    rw [List.map_cons, readUpTo, readUpTo, List.map_cons, ih, Function.comp_apply, apply_ite (List.map f)]
    rfl

end ReadUpTo

namespace RtspCommon

/-- The loop adds the lines it reads, those apart that it passes over. -/
theorem parseLines_eq_foldl (lines : List Text) (i : Nat) (header : Tokens) :
    parseLines i header lines =
      ((readUpTo isForeignChallenge (rtspMessageMaxLines + 1 - i) lines).filter
        (fun line => !isForeignChallenge line)).foldl addLine header := by
  induction lines generalizing i header with
  | nil => rfl
  | cons line lines ih =>
    have hnext : rtspMessageMaxLines + 1 - (i + 1) = rtspMessageMaxLines + 1 - i - 1 := by omega
    rw [parseLines, readUpTo]
    by_cases hpassed : isForeignChallenge line = true
    · rw [if_pos hpassed, if_neg (by simp [hpassed]), List.filter_cons_of_neg (by simp [hpassed]), ih,
        hnext]
    · rw [if_neg hpassed, List.filter_cons_of_pos (by simpa using hpassed), List.foldl_cons]
      by_cases hlimit : i > rtspMessageMaxLines
      · rw [if_pos hlimit, if_pos ⟨by simpa using hpassed, by omega⟩]
        rfl
      · rw [if_neg hlimit, if_neg (fun h => hlimit (by omega)), ih, hnext]

end RtspCommon

theorem Tokens.emplace_of_not_mem {header : Tokens} {name : Text}
    (h : name ∉ header.map Prod.fst) (value : Text) :
    header.emplace name value = header ++ [(name, value)] := by
  have hnone : header.find? name = none := by
    rw [find?, List.lookup_eq_none_iff]
    intro e he
    have hne : e.1 ≠ name := fun heq => h (heq ▸ List.mem_map_of_mem he)
    simpa using hne.symm
  simp [emplace, hnone]

theorem Tokens.find?_eq_some {header : Tokens} (h : (header.map Prod.fst).Nodup) {name value : Text} :
    header.find? name = some value ↔ (name, value) ∈ header := by
  rw [find?, List.lookup_eq_some_iff]
  constructor
  · rintro ⟨pre, post, rfl, -⟩
    simp
  · intro hm
    obtain ⟨pre, post, rfl⟩ := List.append_of_mem hm
    refine ⟨pre, post, rfl, ?_⟩
    intro e he
    simp only [List.map_append, List.map_cons, List.nodup_append] at h
    have hne : e.1 ≠ name := h.2.2 e.1 (List.mem_map_of_mem he) name (by simp)
    simpa using hne.symm

theorem Tokens.find?_isSome {header : Tokens} {name : Text} :
    (header.find? name).isSome ↔ name ∈ header.map Prod.fst := by
  rw [← not_iff_not, Bool.not_eq_true, Option.isSome_eq_false_iff, Option.isNone_iff_eq_none, find?,
    List.lookup_eq_none_iff]
  constructor
  · intro h hm
    obtain ⟨e, he, rfl⟩ := List.mem_map.mp hm
    simpa using h e he
  · intro h e he
    have hne : e.1 ≠ name := fun heq => h (heq ▸ List.mem_map_of_mem he)
    simpa using hne.symm

/-- The fields whose lines the parser comes to. -/
def fieldsRead (fields : Tokens) : Tokens := readUpTo (fun f => !IsKept f) rtspMessageMaxLines fields

theorem fieldsRead_initial (fields : Tokens) : fieldsRead fields <+: fields := readUpTo_initial _ _

theorem mem_fieldsRead_of_mem_take {fields : Tokens} {t : Text × Text}
    (h : t ∈ fields.take (rtspMessageMaxLines + 1)) : t ∈ fieldsRead fields :=
  (take_prefix_readUpTo _ _).subset h

theorem fieldsRead_of_isKept {fields : Tokens} (h : ∀ t ∈ fields, IsKept t) :
    fieldsRead fields = fields.take (rtspMessageMaxLines + 1) :=
  readUpTo_eq_take (fun t ht => by simp [h t ht]) _

/-- The fields the parser keeps of printed ones. -/
def readFields (fields : Tokens) : Tokens := ((fieldsRead fields).filter IsKept).map readField

theorem mem_readFields {fields : Tokens} {g : Text × Text} :
    g ∈ readFields fields ↔ ∃ t ∈ fieldsRead fields, IsKept t ∧ readField t = g := by
  simp only [readFields, List.mem_map, List.mem_filter, and_assoc]

theorem readFields_nodup {fields : Tokens} (h : (fields.map Prod.fst).Nodup) :
    ((readFields fields).map Prod.fst).Nodup := by
  have hnames : (readFields fields).map Prod.fst =
      ((fieldsRead fields).filter IsKept).map Prod.fst := by
    rw [readFields, List.map_map]
    rfl
  rw [hnames]
  exact h.sublist ((List.filter_sublist.trans (fieldsRead_initial fields).sublist).map _)

/-- A field is found with its value exactly when the parser comes to its line
and does not pass over it. -/
theorem find?_readFields {fields : Tokens} (h : (fields.map Prod.fst).Nodup) {t : Text × Text}
    (ht : t ∈ fields) (htrim : Trimmed t.2) (hne : t.2 ≠ []) :
    (readFields fields).find? t.1 = some t.2 ↔ t ∈ fieldsRead fields ∧ IsKept t := by
  rw [Tokens.find?_eq_some (readFields_nodup h), mem_readFields]
  constructor
  · rintro ⟨g, hg, hk, heq⟩
    have hname : (readField g).1 = t.1 := by rw [heq]
    have hgt : g = t := List.inj_on_of_nodup_map h ((fieldsRead_initial fields).subset hg) ht hname
    exact hgt ▸ ⟨hg, hk⟩
  · rintro ⟨hm, hk⟩
    exact ⟨t, hm, hk, readField_of_trimmed htrim hne⟩

theorem find?_readFields_of_mem {fields : Tokens} (h : (fields.map Prod.fst).Nodup)
    (hlen : fields.length ≤ rtspMessageMaxLines + 1) {t : Text × Text} (ht : t ∈ fields)
    (hk : IsKept t) : (readFields fields).find? t.1 = some (readField t).2 := by
  rw [Tokens.find?_eq_some (readFields_nodup h), mem_readFields, fieldsRead,
    readUpTo_of_length_le hlen]
  exact ⟨t, ht, hk, rfl⟩

theorem find?_readFields_none {fields : Tokens} {name : Text} (h : name ∉ fields.map Prod.fst) :
    (readFields fields).find? name = none := by
  rw [← Option.not_isSome_iff_eq_none, Tokens.find?_isSome]
  intro hm
  obtain ⟨g, hg, rfl⟩ := List.mem_map.mp hm
  obtain ⟨t, ht, -, hread⟩ := mem_readFields.mp hg
  have hname : t.1 ∈ fields.map Prod.fst :=
    List.mem_map_of_mem ((fieldsRead_initial fields).subset ht)
  rw [← hread] at h
  exact h hname

namespace RtspCommon

theorem foldl_addLine {fields : Tokens} (hf : ∀ f ∈ fields, IsField f)
    (hnodup : (fields.map Prod.fst).Nodup) (header : Tokens)
    (hdisj : ∀ f ∈ fields, f.1 ∉ header.map Prod.fst) :
    (fields.map fun f => field f.1 f.2).foldl addLine header = header ++ fields.map readField := by
  induction fields generalizing header with
  | nil => simp
  | cons f fields ih =>
    simp only [List.map_cons, List.nodup_cons] at hnodup
    rw [List.map_cons, List.foldl_cons, addLine_field (hf f (by simp)),
      Tokens.emplace_of_not_mem (hdisj f (by simp)), ih (fun g hg => hf g (by simp [hg])) hnodup.2]
    · simp [readField]
    · intro g hg hm
      rw [List.map_append, List.mem_append] at hm
      rcases hm with hm | hm
      · exact hdisj g (by simp [hg]) hm
      · rw [List.map_singleton, List.mem_singleton] at hm
        exact hnodup.1 (hm ▸ List.mem_map_of_mem hg)

theorem parseHeader_fields {fields : Tokens} (hf : ∀ f ∈ fields, IsField f)
    (hnodup : (fields.map Prod.fst).Nodup) (first : Text) :
    parseHeader (first :: fields.map fun f => field f.1 f.2) [] = readFields fields := by
  have hread : readUpTo (isForeignChallenge ∘ fun f : Text × Text => field f.1 f.2)
      rtspMessageMaxLines fields = fieldsRead fields :=
    readUpTo_congr (fun f hm => isForeignChallenge_field (hf f hm)) _
  have hsub := (fieldsRead_initial fields).sublist
  have hkept : (fieldsRead fields).filter
      ((fun line => !isForeignChallenge line) ∘ fun f : Text × Text => field f.1 f.2) =
      (fieldsRead fields).filter IsKept :=
    List.filter_congr fun f hm => by simp [isForeignChallenge_field (hf f (hsub.subset hm))]
  have hfiltered := (List.filter_sublist (p := fun f => IsKept f)).trans hsub
  rw [parseHeader, List.drop_succ_cons, List.drop_zero, parseLines_eq_foldl, Nat.add_sub_cancel,
    readUpTo_map, hread, List.filter_map, hkept,
    foldl_addLine (fun f hm => hf f (hfiltered.subset hm)) (hnodup.sublist (hfiltered.map _)) []
      (by simp), readFields, List.nil_append]

theorem breakOn_crlf_line {c : Char} (hc : c ≠ '\r') (s : Text) :
    breakOn endOfHeader (rtspCrlf ++ c :: s) =
      (breakOn endOfHeader (c :: s)).map fun q => (rtspCrlf ++ q.1, q.2) := by
  simp only [rtspCrlf, endOfHeader, List.cons_append, List.nil_append]
  rw [breakOn, if_neg (by simp [hc.symm]), breakOn, if_neg (by simp), Option.map_map]
  rfl

theorem headed_join {lines : List Text} (hne : lines ≠ [])
    (hlines : ∀ l ∈ lines, LineText l ∧ l ≠ []) : Headed (join rtspCrlf lines) := by
  rw [Headed]
  induction lines with
  | nil => exact absurd rfl hne
  | cons l lines ih =>
    have hl := hlines l (by simp)
    have hskip (s : Text) : breakOn endOfHeader (l ++ s) =
        (breakOn endOfHeader s).map fun q => (l ++ q.1, q.2) := breakOn_append_of_not_mem hl.1.1 s
    cases lines with
    | nil =>
      have hend : breakOn endOfHeader endOfHeader = some ([], []) := by decide
      rw [join_singleton, hskip, hend]
      simp
    | cons m lines =>
      have hm := hlines m (by simp)
      have hih := ih (by simp) fun k hk => hlines k (by simp [hk])
      obtain ⟨c, s, hcs, hc⟩ : ∃ c s, join rtspCrlf (m :: lines) ++ endOfHeader = c :: s ∧ c ≠ '\r' := by
        obtain ⟨c, m', rfl⟩ := List.exists_cons_of_ne_nil hm.2
        have hc : c ≠ '\r' := fun h => hm.1.1 (by simp [h])
        cases lines with
        | nil => exact ⟨c, m' ++ endOfHeader, by simp, hc⟩
        | cons k lines =>
          exact ⟨c, m' ++ rtspCrlf ++ join rtspCrlf (k :: lines) ++ endOfHeader,
            by simp [join_cons_cons], hc⟩
      rw [join_cons_cons, List.append_assoc, List.append_assoc, hskip, hcs, breakOn_crlf_line hc,
        ← hcs, hih]
      simp

theorem parseMessage_fields {first : Text} (hfirst : LineText first) (hne : first ≠ [])
    {fields : Tokens} (hf : ∀ f ∈ fields, IsField f) (hnodup : (fields.map Prod.fst).Nodup)
    (hfields : fields ≠ []) (rest : Text) :
    parseMessage
        (ended rtspCrlf (first :: fields.map fun f => field f.1 f.2) ++ rtspCrlf ++ rest) [] [] =
      let (error, body) :=
        parseBody (if rest = [] then [] else TextSplit.split endOfHeader rest) (readFields fields) []
      { error, firstLine := split first rtspSp, header := readFields fields, body } := by
  have hlines : ∀ l ∈ first :: fields.map fun f => field f.1 f.2, LineText l ∧ l ≠ [] := by
    intro l hl
    rcases List.mem_cons.mp hl with rfl | hl
    · exact ⟨hfirst, hne⟩
    · obtain ⟨f, hfm, rfl⟩ := List.mem_map.mp hl
      exact ⟨(hf f hfm).line, IsField.line_ne_nil f⟩
  have hheaded := headed_join (by simp) hlines
  have htext : ended rtspCrlf (first :: fields.map fun f => field f.1 f.2) ++ rtspCrlf ++ rest =
      join rtspCrlf (first :: fields.map fun f => field f.1 f.2) ++ endOfHeader ++ rest := by
    rw [← join_append_delimiter (by simp), endOfHeader]
    simp
  have hsplit : split (join rtspCrlf (first :: fields.map fun f => field f.1 f.2)) rtspCrlf =
      first :: fields.map fun f => field f.1 f.2 := by
    apply split_join (by simp) fun l hl => (hlines l hl).1.1
    intro hlast
    exact (hlines [] (List.mem_of_getLast? hlast)).2 rfl
  have hpieces : TextSplit.split endOfHeader
      (join rtspCrlf (first :: fields.map fun f => field f.1 f.2) ++ endOfHeader ++ rest) =
      join rtspCrlf (first :: fields.map fun f => field f.1 f.2) ::
        if rest = [] then [] else TextSplit.split endOfHeader rest := by
    by_cases hrest : rest = []
    · rw [hrest, List.append_nil, if_pos rfl, hheaded.split_whole]
    · rw [if_neg hrest, hheaded.split_behind hrest]
  have hcount : ¬ (first :: fields.map fun f => field f.1 f.2).length < 2 := by
    have hpos := List.length_pos_iff.mpr hfields
    simp only [List.length_cons, List.length_map]
    omega
  rw [htext, parseMessage_eq hpieces, hsplit, if_neg hcount, parseHeader_fields hf hnodup]
  rfl

end RtspCommon

theorem RtspRequest.take_request {r : RtspRequest} {m : RtspCommon.ParsedMessage} {method url : Text}
    (hfirst : m.firstLine = [method, url, rtspVersionText]) (hcode : m.error.code = .ok)
    (hheader : m.header ≠ []) (hmethod : RtspCommon.verifyMethod method) :
    r.take m =
      ({ r with
          method, url, tokens := m.header, body := m.body
          cSeq := ((m.header.find? rtspTokenCseq).map atoi).getD r.cSeq
          userAgent := (m.header.find? rtspTokenUa).getD r.userAgent
          session := (m.header.find? rtspTokenSession).getD r.session }, {}) := by
  have hcount : ¬ ([method, url, rtspVersionText].length < 2 ∨ m.header = []) := by
    rintro (h | h)
    · exact absurd h (by simp)
    · exact hheader h
  simp only [RtspRequest.take, hfirst]
  rw [if_neg (not_not.mpr hcode), if_neg hcount, if_neg (not_not.mpr rfl),
    if_neg (not_not.mpr hmethod)]

/-- The fields a response object takes from its tokens. -/
def RtspResponse.withTokens (r : RtspResponse) (m : RtspCommon.ParsedMessage) (status : Text) :
    RtspResponse :=
  { r with tokens := m.header, body := m.body, status := atoi status : RtspResponse }.setTokens

theorem RtspResponse.take_response {r : RtspResponse} {m : RtspCommon.ParsedMessage}
    {status reason : Text} {rest : List Text}
    (hfirst : m.firstLine = rtspVersionText :: status :: reason :: rest) (hcode : m.error.code = .ok)
    (hheader : m.header ≠ []) :
    (r.take m).1 = r.withTokens m status ∧ (r.take m).2.code = .ok := by
  have hcount : ¬ ((rtspVersionText :: status :: reason :: rest).length < 2) := by
    simp only [List.length_cons]
    omega
  have hok : ¬ (m.error.code ≠ .ok ∨ (rtspVersionText :: status :: reason :: rest).length < 2 ∨
      m.header = []) := by
    rintro (h | h | h)
    · exact h hcode
    · exact hcount h
    · exact hheader h
  simp only [RtspResponse.take, hfirst]
  rw [if_neg hok, if_neg (not_not.mpr rfl)]
  split
  · exact ⟨rfl, hcode⟩
  · exact ⟨rfl, rfl⟩

end WifiDisplay
