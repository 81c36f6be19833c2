import Mathlib.Tactic.IntervalCases
import WifiDisplay.SinkCapabilities

/-! A `wfd_video_formats` value with any number of codec entries, and the infos that
`GetVideoFormats` makes of it. -/

namespace InputStream

theorem digitValue_lt {base : ℕ} {c : Char} (h : isDigit base c = true) : (digitValue c).getD 0 < base := by
  rw [isDigit] at h
  cases hvalue : digitValue c with
  | none =>
    rw [hvalue] at h
    cases h
  | some v =>
    rw [hvalue] at h
    exact of_decide_eq_true h

theorem magnitude_lt {base : ℕ} {digits : List Char} (h : ∀ c ∈ digits, isDigit base c = true) :
    magnitude base digits < base ^ digits.length := by
  induction digits using List.reverseRecOn with
  | nil => exact Nat.one_pos
  | append_singleton digits c ih =>
    obtain ⟨hdigits, hc⟩ := List.forall_mem_append.mp h
    have hlt := ih hdigits
    have hdigit := digitValue_lt (hc c (List.mem_singleton_self c))
    rw [magnitude, List.foldl_append, List.length_append, List.length_singleton, Nat.pow_succ, Nat.mul_comm _ base]
    change base * magnitude base digits + (digitValue c).getD 0 < base * base ^ digits.length
    calc base * magnitude base digits + (digitValue c).getD 0
        < base * magnitude base digits + base := Nat.add_lt_add_left hdigit _
      _ = base * (magnitude base digits + 1) := (Nat.mul_succ _ _).symm
      _ ≤ base * base ^ digits.length := Nat.mul_le_mul_left _ hlt

end InputStream

namespace WifiDisplay

open InputStream

/-- A number of hex digits, behind blanks. -/
structure HexField where
  blanks : Text
  digits : Text

namespace HexField

def text (f : HexField) : Text := f.blanks ++ f.digits

def value (f : HexField) : ℕ := magnitude 16 f.digits

structure WellFormed (width : ℕ) (f : HexField) : Prop where
  blanks : ∀ c ∈ f.blanks, isBlank c = true
  width : f.digits.length = width
  digits : ∀ c ∈ f.digits, isDigit 16 c = true

end HexField

/-- Profile, level, the three masks, latency, minimal slice size, slice parameters, frame rate
control; then the greatest resolution. -/
structure CodecEntry where
  fields : List HexField
  rest : Text

namespace CodecEntry

def text (e : CodecEntry) : Text := e.fields.flatMap HexField.text ++ e.rest

def values (e : CodecEntry) : List ℕ := e.fields.map HexField.value

/-- The widths of the fields; the last one is two letters in the answers that sinks give and four
in the grammar. -/
def widths (last : ℕ) : List ℕ := [2, 2, 8, 8, 8, 2, 4, 4, last]

structure WellFormed (e : CodecEntry) : Prop where
  fields : ∃ last, (last = 2 ∨ last = 4) ∧ List.Forall₂ HexField.WellFormed (widths last) e.fields
  separated : ∀ f ∈ e.fields.tail, f.blanks ≠ []
  rest : ∀ c, e.rest.head? = some c → isBlank c = true
  comma : ',' ∉ e.rest

end CodecEntry

structure VideoFormatsValue where
  native : Text
  preferredDisplayMode : Text
  first : CodecEntry
  others : List CodecEntry

namespace VideoFormatsValue

def codecsText (v : VideoFormatsValue) : Text := v.first.text ++ v.others.flatMap fun e => ',' :: e.text

def text (v : VideoFormatsValue) : Text := v.native ++ ' ' :: v.preferredDisplayMode ++ v.codecsText

/-- Two bytes and the codecs, each behind a comma but for the first. -/
structure WellFormed (v : VideoFormatsValue) : Prop where
  native : v.native.length = 2 ∧ ∀ c ∈ v.native, isDigit 16 c = true
  preferredDisplayMode : v.preferredDisplayMode.length = 2 ∧ ∀ c ∈ v.preferredDisplayMode, isDigit 16 c = true
  first : v.first.WellFormed
  separated : ∀ f ∈ v.first.fields, f.blanks ≠ []
  others : ∀ e ∈ v.others, e.WellFormed

/-- The info of one entry. -/
def info (v : VideoFormatsValue) (e : CodecEntry) : WfdVideoFormatsInfo where
  native := magnitude 16 v.native
  preferredDisplayMode := magnitude 16 v.preferredDisplayMode
  profile := e.values.getD 0 0
  level := e.values.getD 1 0
  ceaMask := e.values.getD 2 0
  veaMask := e.values.getD 3 0
  hhMask := e.values.getD 4 0
  latency := e.values.getD 5 0
  minSlice := e.values.getD 6 0
  sliceEncParam := e.values.getD 7 0
  frameRateCtlSupport := e.values.getD 8 0

/-- A response with this value gives one info for each entry, with the fields of the entry. -/
def YieldsInfos (v : VideoFormatsValue) : Prop :=
  ∀ r : WfdRtspM3Response, r.vWfdVideoFormatsInfo = [] → r.getCustomParam wfdParamVideoFormats = v.text →
    ∃ format r', r.getVideoFormats = .ok (format, r') ∧
      r'.vWfdVideoFormatsInfo = (v.first :: v.others).map v.info

end VideoFormatsValue

/-! Numbers from fields. -/

/-- Behind these letters a number does not go on. -/
def Boundary (t : Text) : Prop := ∀ c, t.head? = some c → isDigit 16 c = false ∧ c ≠ 'x' ∧ c ≠ 'X'

theorem Boundary.of_blank {t : Text} (h : ∀ c, t.head? = some c → isBlank c = true) : Boundary t := by
  intro c hc
  have hblank := h c hc
  refine ⟨not_isDigit_of_blank hblank, ?_, ?_⟩
  · rintro rfl
    exact absurd hblank (by decide)
  · rintro rfl
    exact absurd hblank (by decide)

theorem Boundary.comma (t : Text) : Boundary (',' :: t) := by
  intro c hc
  obtain rfl : ',' = c := Option.some.inj hc
  decide

theorem number_field {f : NumberFormat} (hbase : f.base = 16) (hlow : f.low = 0) {width : ℕ} {field : HexField}
    (hfield : field.WellFormed width) (hwidth : 0 < width) (hhigh : (16 ^ width : ℕ) ≤ f.high + 1) {t : Text}
    (ht : Boundary t) : number f ⟨field.text ++ t, false⟩ 0 = ((field.value : Int), ⟨t, false⟩) := by
  have hmagnitude := magnitude_lt hfield.digits
  rw [hfield.width] at hmagnitude
  have hle : ¬ (magnitude 16 field.digits : Int) > f.high := by omega
  have hvalue : f.value false (magnitude 16 field.digits) = ((magnitude 16 field.digits : Int), true) := by
    rw [NumberFormat.value, if_pos hlow, if_neg hle]
    rfl
  have hfits : Numeral.Fits f { digits := field.digits } t := by
    refine ⟨.inl rfl, .inl rfl, ?_, ?_, ?_, ?_, fun _ _ _ => ?_⟩
    · exact List.length_pos_iff.mp (hfield.width ▸ hwidth)
    · rw [hbase]
      exact hfield.digits
    · rw [hbase]
      exact congrArg Prod.snd hvalue
    · intro c hc
      rw [hbase]
      exact (ht c hc).1
    · exact ⟨fun hx => (ht 'x' hx).2.1 rfl, fun hx => (ht 'X' hx).2.2 rfl⟩
  have hnumber := hfits.number_eq hfield.blanks 0
  rw [hbase] at hnumber
  exact hnumber.trans (congrArg (·, _) (congrArg Prod.fst hvalue))

/-- The type holds every number of that many digits. -/
def Holds16 (f : NumberFormat) (width : ℕ) : Prop :=
  f.base = 16 ∧ f.low = 0 ∧ 0 < width ∧ (16 ^ width : ℕ) ≤ f.high + 1

theorem numbers_fields {fs : List NumberFormat} {widths : List ℕ} {fields : List HexField} {t : Text}
    (hfs : List.Forall₂ Holds16 fs widths) (hfields : List.Forall₂ HexField.WellFormed widths fields)
    (hseparated : ∀ f ∈ fields.tail, f.blanks ≠ []) (ht : Boundary t) :
    (numbers fs ⟨fields.flatMap HexField.text ++ t, false⟩).1 = fields.map HexField.value := by
  induction hfs generalizing fields with
  | nil =>
    cases hfields
    rfl
  | cons hf _ ih =>
    cases hfields with
    | @cons _ field _ fields hfield hfields =>
      obtain ⟨hbase, hlow, hpos, hhigh⟩ := hf
      have hboundary : Boundary (fields.flatMap HexField.text ++ t) := by
        cases hfields with
        | nil => exact ht
        | @cons _ next _ fields hnext _ =>
          obtain ⟨c, blanks, hblanks⟩ := List.exists_cons_of_ne_nil (hseparated next List.mem_cons_self)
          refine Boundary.of_blank fun d hd => ?_
          rw [List.flatMap_cons, HexField.text, hblanks] at hd
          obtain rfl : c = d := Option.some.inj hd
          exact hnext.blanks c (hblanks ▸ List.mem_cons_self)
      have hnumber := number_field hbase hlow hfield hpos hhigh hboundary
      rw [List.flatMap_cons, List.append_assoc, numbers, hnumber, List.map_cons]
      exact congrArg (field.value :: ·) (ih hfields fun f hf => hseparated f (List.mem_of_mem_tail hf))

theorem codecFormats_widths {last : ℕ} (h : last = 2 ∨ last = 4) :
    List.Forall₂ Holds16 WfdRtspM3Response.codecFormats (CodecEntry.widths last) := by
  have hbyte : Holds16 hex16 2 := ⟨rfl, rfl, by decide, by decide⟩
  have hhalf : Holds16 hex16 4 := ⟨rfl, rfl, by decide, by decide⟩
  have hword : Holds16 hex32 8 := ⟨rfl, rfl, by decide, by decide⟩
  have hlast : Holds16 hex16 last := by
    rcases h with rfl | rfl
    · exact hbyte
    · exact hhalf
  exact .cons hbyte (.cons hbyte (.cons hword (.cons hword (.cons hword (.cons hbyte (.cons hhalf (.cons hhalf
    (.cons hlast .nil))))))))

/-- Behind the fields of an entry the text may go on, but for a letter of a number. -/
theorem readCodec_entry {v : VideoFormatsValue} {e : CodecEntry} (he : e.WellFormed) {t : Text} (ht : Boundary t) :
    (WfdRtspM3Response.readCodec (magnitude 16 v.native) (magnitude 16 v.preferredDisplayMode) (e.text ++ t)).1 =
      v.info e := by
  obtain ⟨last, hlast, hfields⟩ := he.fields
  have hboundary : Boundary (e.rest ++ t) := by
    cases hrest : e.rest with
    | nil => exact ht
    | cons c rest =>
      refine Boundary.of_blank fun d hd => he.rest d ?_
      rw [hrest]
      exact hd
  have hvalues := numbers_fields (codecFormats_widths hlast) hfields he.separated hboundary
  rw [← List.append_assoc] at hvalues
  simp only [WfdRtspM3Response.readCodec, CodecEntry.text, hvalues]
  rfl

/-! The texts of the loop. -/

theorem exists_width {widths : List ℕ} {fields : List HexField}
    (h : List.Forall₂ HexField.WellFormed widths fields) : ∀ f ∈ fields, ∃ width, f.WellFormed width := by
  induction h with
  | nil => exact fun _ hmem => absurd hmem List.not_mem_nil
  | cons hfield _ ih => exact List.forall_mem_cons.mpr ⟨⟨_, hfield⟩, ih⟩

theorem comma_not_mem_text {e : CodecEntry} (he : e.WellFormed) : ',' ∉ e.text := by
  obtain ⟨last, -, hfields⟩ := he.fields
  rw [CodecEntry.text, List.mem_append, List.mem_flatMap]
  rintro (⟨f, hf, hcomma⟩ | hcomma)
  · obtain ⟨width, hwf⟩ := exists_width hfields f hf
    rcases List.mem_append.mp hcomma with hin | hin
    · exact absurd (hwf.blanks _ hin) (by decide)
    · exact absurd (hwf.digits _ hin) (by decide)
  · exact he.comma hcomma

/-- Up to each comma from the start, then what is behind the last one. -/
def cutTexts (front text : Text) : List Text → List Text
  | [] => [text]
  | next :: texts => (front ++ text) :: cutTexts (front ++ text ++ [',']) next texts

theorem codecTexts_eq {front text : Text} {texts : List Text} {index n : ℕ} (hindex : front.length = index + 1)
    (htexts : ∀ t ∈ text :: texts, ',' ∉ t) (hn : texts.length < n) :
    WfdRtspM3Response.codecTexts (front ++ (text ++ texts.flatMap fun t => ',' :: t)) n index =
      .ok (cutTexts front text texts) := by
  induction texts generalizing front text index n with
  | nil =>
    obtain ⟨n, rfl⟩ := Nat.exists_eq_succ_of_ne_zero (Nat.ne_of_gt hn)
    have hdrop : (front ++ (text ++ ([] : List Text).flatMap fun t => ',' :: t)).drop (index + 1) = text := by
      rw [← hindex, List.drop_left, List.flatMap_nil, List.append_nil]
    have hnone : text.idxOf? ',' = none := List.idxOf?_eq_none_iff.mpr (htexts text List.mem_cons_self)
    have hle : ¬ index + 1 > (front ++ (text ++ ([] : List Text).flatMap fun t => ',' :: t)).length := by
      rw [← hindex, List.length_append]
      omega
    simp only [WfdRtspM3Response.codecTexts, hdrop, hnone, if_neg hle, cutTexts]
  | cons next texts ih =>
    obtain ⟨n, rfl⟩ := Nat.exists_eq_succ_of_ne_zero (Nat.ne_of_gt (Nat.zero_lt_of_lt hn))
    obtain ⟨htext, hrest⟩ := List.forall_mem_cons.mp htexts
    have hcons : (next :: texts).flatMap (fun t => ',' :: t) = ',' :: (next ++ texts.flatMap fun t => ',' :: t) := rfl
    rw [hcons]
    have hdrop : (front ++ (text ++ ',' :: (next ++ texts.flatMap fun t => ',' :: t))).drop (index + 1) =
        text ++ ',' :: (next ++ texts.flatMap fun t => ',' :: t) := by rw [← hindex, List.drop_left]
    have hsome : (text ++ ',' :: (next ++ texts.flatMap fun t => ',' :: t)).idxOf? ',' = some text.length := by
      rw [List.idxOf?_eq_some_iff]
      refine ⟨by simp, by simp, fun j hj heq => htext ?_⟩
      rw [List.getElem_append_left hj] at heq
      exact heq ▸ List.getElem_mem hj
    have htake : (front ++ (text ++ ',' :: (next ++ texts.flatMap fun t => ',' :: t))).take (index + 1 + text.length) =
        front ++ text := by
      rw [← hindex, ← List.length_append, ← List.append_assoc, List.take_left]
    have hfront : (front ++ text ++ [',']).length = index + 1 + text.length + 1 := by
      rw [List.length_append, List.length_append, hindex]
      rfl
    have hnext := ih hfront hrest (Nat.lt_of_succ_lt_succ hn)
    have hsame : front ++ text ++ [','] ++ (next ++ texts.flatMap fun t => ',' :: t) =
        front ++ (text ++ ',' :: (next ++ texts.flatMap fun t => ',' :: t)) := by
      simp only [List.append_assoc, List.singleton_append]
    rw [hsame] at hnext
    simp only [WfdRtspM3Response.codecTexts, hdrop, hsome, htake, hnext, cutTexts]
    rfl

namespace VideoFormatsValue

/-- The entries behind the first one that the loop reads: up to the last one it reads the first again. -/
def readEntries (first : CodecEntry) : List CodecEntry → List CodecEntry
  | [] => []
  | [last] => [last]
  | _ :: others => first :: readEntries first others

variable {v : VideoFormatsValue}

/-- What `readCodec` makes of a text behind the two bytes. -/
def read (v : VideoFormatsValue) (t : Text) : WfdVideoFormatsInfo :=
  (WfdRtspM3Response.readCodec (magnitude 16 v.native) (magnitude 16 v.preferredDisplayMode) t).1

theorem read_entry {e : CodecEntry} (he : e.WellFormed) : v.read e.text = v.info e := by
  have hread := readCodec_entry (v := v) he (t := []) (fun _ hc => nomatch hc)
  rwa [List.append_nil] at hread

theorem read_cutTexts (hv : v.WellFormed) {others : List CodecEntry} (hothers : ∀ e ∈ others, e.WellFormed)
    (hne : others ≠ []) {front text t : Text} (hfront : front ++ text = v.first.text ++ t) (ht : Boundary t) :
    (cutTexts front text (others.map CodecEntry.text)).map v.read =
      (v.first :: readEntries v.first others).map v.info := by
  have hfirst : v.read (front ++ text) = v.info v.first := by
    rw [hfront]
    exact readCodec_entry hv.first ht
  induction others generalizing front text t with
  | nil => exact absurd rfl hne
  | cons e others ih =>
    obtain ⟨he, hrest⟩ := List.forall_mem_cons.mp hothers
    cases others with
    | nil => simp only [List.map_cons, List.map_nil, cutTexts, hfirst, read_entry he, readEntries]
    | cons e' others =>
      have hfront' : front ++ text ++ [','] ++ e.text = v.first.text ++ (t ++ ',' :: e.text) := by
        rw [hfront]
        simp only [List.append_assoc, List.singleton_append]
      have ht' : Boundary (t ++ ',' :: e.text) := by
        cases t with
        | nil => exact Boundary.comma _
        | cons c t => exact fun d hd => ht d hd
      have hagain : v.read (front ++ text ++ [','] ++ e.text) = v.info v.first := by
        rw [hfront']
        exact readCodec_entry hv.first ht'
      have hnext := ih hrest (List.cons_ne_nil _ _) hfront' ht' hagain
      rw [List.map_cons, cutTexts, List.map_cons, hfirst, hnext]
      rfl

/-- The first entry without the blank in front of it. -/
theorem read_tail (hv : v.WellFormed) :
    ∃ c t, v.first.text = c :: t ∧ c ≠ ',' ∧ ',' ∉ t ∧ v.read t = v.info v.first := by
  obtain ⟨last, hlast, hfields⟩ := hv.first.fields
  have hseparated := hv.separated
  have hcomma := comma_not_mem_text hv.first
  rcases hfirst : v.first with ⟨fields, rest⟩
  rw [hfirst] at hfields hseparated hcomma
  cases hfields with
  | @cons width field _ fields hfield hrest =>
    obtain ⟨c, blanks, hblanks⟩ := List.exists_cons_of_ne_nil (hseparated field List.mem_cons_self)
    obtain ⟨first, digits⟩ := field
    obtain rfl : first = c :: blanks := hblanks
    let e : CodecEntry := { fields := ⟨blanks, digits⟩ :: fields, rest }
    have htext : ({ fields := ⟨c :: blanks, digits⟩ :: fields, rest } : CodecEntry).text = c :: e.text := rfl
    rw [htext, List.mem_cons, not_or] at hcomma
    have he : e.WellFormed := by
      have hwf := hv.first
      rw [hfirst] at hwf
      refine ⟨⟨last, hlast, .cons ⟨fun d hd => hfield.blanks d (List.mem_cons_of_mem _ hd), hfield.width,
        hfield.digits⟩ hrest⟩, hwf.separated, hwf.rest, hwf.comma⟩
    exact ⟨c, e.text, htext, Ne.symm hcomma.1, hcomma.2, read_entry he⟩

theorem numbers_head (hv : v.WellFormed) : (numbers [hex16, hex16] ⟨v.text.take 5, false⟩).1 =
    [magnitude 16 v.native, magnitude 16 v.preferredDisplayMode] := by
  have hfive : (v.native ++ ' ' :: v.preferredDisplayMode).length = 5 := by
    rw [List.length_append, List.length_cons, hv.native.1, hv.preferredDisplayMode.1]
  have htake : v.text.take 5 = v.native ++ ' ' :: v.preferredDisplayMode := by
    rw [text, ← hfive, List.take_left]
  have hbyte : Holds16 hex16 2 := ⟨rfl, rfl, by decide, by decide⟩
  have hfields : List.Forall₂ HexField.WellFormed [2, 2]
      [⟨[], v.native⟩, ⟨[' '], v.preferredDisplayMode⟩] := by
    refine .cons ⟨fun _ hc => absurd hc List.not_mem_nil, hv.native.1, hv.native.2⟩
      (.cons ⟨?_, hv.preferredDisplayMode.1, hv.preferredDisplayMode.2⟩ .nil)
    intro c hc
    rw [List.mem_singleton.mp hc]
    rfl
  have hseparated : ∀ f ∈ [(⟨[' '], v.preferredDisplayMode⟩ : HexField)], f.blanks ≠ [] := by
    intro f hf
    rw [List.mem_singleton.mp hf]
    exact List.cons_ne_nil _ _
  have hnumbers := numbers_fields (.cons hbyte (.cons hbyte .nil)) hfields hseparated
    (t := []) (fun _ hc => nomatch hc)
  rw [htake]
  simpa [HexField.text, HexField.value] using hnumbers

theorem length_fields {widths : List ℕ} {fields : List HexField}
    (h : List.Forall₂ HexField.WellFormed widths fields) (hseparated : ∀ f ∈ fields, f.blanks ≠ []) :
    widths.sum + widths.length ≤ (fields.flatMap HexField.text).length := by
  induction h with
  | nil => exact Nat.le_refl _
  | @cons width field widths fields hfield _ ih =>
    obtain ⟨hblanks, hrest⟩ := List.forall_mem_cons.mp hseparated
    have hpos := List.length_pos_iff.mpr hblanks
    have hle := ih hrest
    have hwidth := hfield.width
    rw [List.flatMap_cons, List.sum_cons, List.length_cons, List.length_append, HexField.text, List.length_append]
    omega

theorem length_text (hv : v.WellFormed) : minimalVideoFormatSize ≤ v.text.length := by
  obtain ⟨last, hlast, hfields⟩ := hv.first.fields
  have hle := length_fields hfields hv.separated
  have hsum : 49 ≤ (CodecEntry.widths last).sum + (CodecEntry.widths last).length := by
    rcases hlast with rfl | rfl <;> decide
  have hmin : minimalVideoFormatSize = 54 := rfl
  have hnative := hv.native.1
  have hmode := hv.preferredDisplayMode.1
  rw [text, codecsText, CodecEntry.text]
  simp only [List.length_append, List.length_cons]
  omega

theorem length_le_flatMap (texts : List Text) : texts.length ≤ (texts.flatMap fun t => ',' :: t).length := by
  induction texts with
  | nil => exact Nat.le_refl _
  | cons t texts ih =>
    rw [List.flatMap_cons, List.length_append, List.length_cons, List.length_cons]
    omega

/-- The infos are those of the entries that the loop reads. -/
theorem getVideoFormats_text (hv : v.WellFormed) (r : WfdRtspM3Response) (hfresh : r.vWfdVideoFormatsInfo = [])
    (hvalue : r.getCustomParam wfdParamVideoFormats = v.text) :
    ∃ format r', r.getVideoFormats = .ok (format, r') ∧
      r'.vWfdVideoFormatsInfo = (v.first :: readEntries v.first v.others).map v.info := by
  obtain ⟨c, t, htext, hc, ht, htail⟩ := read_tail hv
  have hfive : (v.native ++ ' ' :: v.preferredDisplayMode).length = 5 := by
    rw [List.length_append, List.length_cons, hv.native.1, hv.preferredDisplayMode.1]
  have hdrop : v.text.drop 5 = [c] ++ (t ++ (v.others.map CodecEntry.text).flatMap fun t => ',' :: t) := by
    rw [text, ← hfive, List.drop_left, codecsText, htext, List.flatMap_map]
    rfl
  have hcommas : ∀ u ∈ t :: v.others.map CodecEntry.text, ',' ∉ u := by
    refine List.forall_mem_cons.mpr ⟨ht, ?_⟩
    rw [List.forall_mem_map]
    exact fun e he => comma_not_mem_text (hv.others e he)
  have hmany : (v.others.map CodecEntry.text).length < (v.text.drop 5).length + 1 := by
    have hle := length_le_flatMap (v.others.map CodecEntry.text)
    rw [hdrop, List.length_append, List.length_append]
    omega
  have hfront : ([c] : Text).length = 0 + 1 := rfl
  have htexts := codecTexts_eq hfront hcommas hmany
  rw [← hdrop] at htexts
  have hinfos : (cutTexts [c] t (v.others.map CodecEntry.text)).map v.read =
      (v.first :: readEntries v.first v.others).map v.info := by
    by_cases hne : v.others = []
    · rw [hne]
      simp only [List.map_nil, cutTexts, List.map_cons, htail, readEntries]
    · refine read_cutTexts hv hv.others hne (t := []) ?_ fun _ hc => nomatch hc
      rw [htext, List.append_nil]
      rfl
  have hnative : (numbers [hex16, hex16] ⟨v.text.take 5, false⟩).1.getD 0 0 = magnitude 16 v.native := by
    rw [numbers_head hv]
    rfl
  have hmode : (numbers [hex16, hex16] ⟨v.text.take 5, false⟩).1.getD 1 0 = magnitude 16 v.preferredDisplayMode := by
    rw [numbers_head hv]
    rfl
  have hall : ((cutTexts [c] t (v.others.map CodecEntry.text)).map (WfdRtspM3Response.readCodec
      (magnitude 16 v.native) (magnitude 16 v.preferredDisplayMode))).map Prod.fst =
      (v.first :: readEntries v.first v.others).map v.info := by
    rw [List.map_map, ← hinfos]
    rfl
  rw [WfdRtspM3Response.getVideoFormats, hvalue, if_neg (Nat.not_lt.mpr (length_text hv))]
  simp only [htexts, hnative, hmode, hfresh, hall, bind, Except.bind, List.nil_append, List.map_cons]
  split
  · exact ⟨_, _, rfl, rfl⟩
  · exact ⟨_, _, rfl, rfl⟩

theorem info_inj {e e' : CodecEntry} (he : e.WellFormed) (he' : e'.WellFormed) :
    v.info e = v.info e' ↔ e.values = e'.values := by
  refine ⟨fun h => ?_, fun h => by rw [info, info, h]⟩
  obtain ⟨last, -, hfields⟩ := he.fields
  obtain ⟨last', -, hfields'⟩ := he'.fields
  have hlen : e.values.length = 9 := by
    rw [CodecEntry.values, List.length_map, ← hfields.length_eq]
    rfl
  have hlen' : e'.values.length = 9 := by
    rw [CodecEntry.values, List.length_map, ← hfields'.length_eq]
    rfl
  simp only [info, WfdVideoFormatsInfo.mk.injEq, true_and] at h
  obtain ⟨h0, h1, h2, h3, h4, h5, h6, h7, h8⟩ := h
  apply List.ext_getElem (hlen.trans hlen'.symm)
  intro i hi hi'
  have hget : e.values.getD i 0 = e'.values.getD i 0 := by
    rw [hlen] at hi
    interval_cases i <;> assumption
  rw [List.getD_eq_getElem?_getD, List.getD_eq_getElem?_getD, List.getElem?_eq_getElem hi,
    List.getElem?_eq_getElem hi'] at hget
  exact hget

/-- Which entries are read, against which there are. -/
theorem map_readEntries_iff {first : CodecEntry} {others : List CodecEntry} :
    (readEntries first others).map v.info = others.map v.info ↔
      ∀ e ∈ others.dropLast, v.info e = v.info first := by
  induction others with
  | nil => simp [readEntries]
  | cons e others ih =>
    cases others with
    | nil => simp [readEntries]
    | cons e' others =>
      rw [readEntries, List.map_cons, List.map_cons, List.cons.injEq, ih, List.dropLast_cons_cons, List.forall_mem_cons]
      · exact and_congr_left' eq_comm
      · exact fun h => nomatch h

theorem yieldsInfos_iff_read (hv : v.WellFormed) :
    v.YieldsInfos ↔ (v.first :: readEntries v.first v.others).map v.info = (v.first :: v.others).map v.info := by
  constructor
  · intro h
    let r : WfdRtspM3Response := { params := [(wfdParamVideoFormats, v.text)] }
    have hvalue : r.getCustomParam wfdParamVideoFormats = v.text := by
      simp [r, WfdRtspM3Response.getCustomParam, Tokens.find?]
    obtain ⟨format, r', hr', hyields⟩ := h r rfl hvalue
    obtain ⟨format', r'', hr'', hread⟩ := getVideoFormats_text hv r rfl hvalue
    obtain ⟨-, rfl⟩ := Prod.mk.inj (Except.ok.inj (hr'.symm.trans hr''))
    exact hread.symm.trans hyields
  · intro h r hfresh hvalue
    obtain ⟨format, r', hr', hread⟩ := getVideoFormats_text hv r hfresh hvalue
    exact ⟨format, r', hr', hread.trans h⟩

/-- The infos are right exactly when every entry between the first and the last is as the first. -/
theorem yieldsInfos_iff (hv : v.WellFormed) :
    v.YieldsInfos ↔ ∀ e ∈ v.others.dropLast, e.values = v.first.values := by
  rw [yieldsInfos_iff_read hv, List.map_cons, List.map_cons, List.cons.injEq, map_readEntries_iff, and_iff_right rfl]
  exact forall₂_congr fun e he => info_inj (hv.others e (List.mem_of_mem_dropLast he)) hv.first

def hexField (digits : String) : HexField := ⟨[' '], digits.toList⟩

/-- An entry with this profile. -/
def entryOf (profile : String) : CodecEntry where
  fields := [hexField profile, hexField "10", hexField "0001DEFF", hexField "07ffffff", hexField "00000fff",
    hexField "02", hexField "0000", hexField "0000", hexField "11"]
  rest := " none none".toList

theorem hexField_wellFormed {width : ℕ} {digits : String} (hwidth : digits.toList.length = width)
    (hdigits : digits.toList.all (isDigit 16) = true) : (hexField digits).WellFormed width where
  blanks c hc := by
    rw [List.mem_singleton.mp hc]
    rfl
  width := hwidth
  digits := List.all_eq_true.mp hdigits

theorem entryOf_wellFormed {profile : String} (hwidth : profile.toList.length = 2)
    (hdigits : profile.toList.all (isDigit 16) = true) : (entryOf profile).WellFormed where
  fields := by
    refine ⟨2, .inl rfl, ?_⟩
    have hbyte (digits : String) (h : digits.toList.length = 2 ∧ digits.toList.all (isDigit 16) = true) :=
      hexField_wellFormed h.1 h.2
    have hhalf (digits : String) (h : digits.toList.length = 4 ∧ digits.toList.all (isDigit 16) = true) :=
      hexField_wellFormed h.1 h.2
    have hword (digits : String) (h : digits.toList.length = 8 ∧ digits.toList.all (isDigit 16) = true) :=
      hexField_wellFormed h.1 h.2
    exact .cons (hbyte _ ⟨hwidth, hdigits⟩) (.cons (hbyte _ (by decide)) (.cons (hword _ (by decide))
      (.cons (hword _ (by decide)) (.cons (hword _ (by decide)) (.cons (hbyte _ (by decide))
      (.cons (hhalf _ (by decide)) (.cons (hhalf _ (by decide)) (.cons (hbyte _ (by decide)) .nil))))))))
  separated f hf := by
    have hall : ∀ f ∈ (entryOf profile).fields, f.blanks = [' '] := by simp [entryOf, hexField]
    rw [hall f (List.mem_of_mem_tail hf)]
    exact List.cons_ne_nil _ _
  rest := by
    intro c hc
    obtain rfl : ' ' = c := Option.some.inj hc
    rfl
  comma := by
    show ',' ∉ " none none".toList
    decide

/-- Three codecs. -/
def codecsOf (first second third : String) : VideoFormatsValue where
  native := "00".toList
  preferredDisplayMode := "00".toList
  first := entryOf first
  others := [entryOf second, entryOf third]

theorem codecsOf_wellFormed {first second third : String}
    (h : ∀ p ∈ [first, second, third], p.toList.length = 2 ∧ p.toList.all (isDigit 16) = true) :
    (codecsOf first second third).WellFormed where
  native := by
    show "00".toList.length = 2 ∧ ∀ c ∈ "00".toList, isDigit 16 c = true
    exact ⟨rfl, List.all_eq_true.mp (by decide)⟩
  preferredDisplayMode := by
    show "00".toList.length = 2 ∧ ∀ c ∈ "00".toList, isDigit 16 c = true
    exact ⟨rfl, List.all_eq_true.mp (by decide)⟩
  first := entryOf_wellFormed (h first (by simp)).1 (h first (by simp)).2
  separated f hf := by
    have hall : ∀ f ∈ (entryOf first).fields, f.blanks = [' '] := by simp [entryOf, hexField]
    rw [hall f hf]
    exact List.cons_ne_nil _ _
  others := List.forall_mem_cons.mpr ⟨entryOf_wellFormed (h second (by simp)).1 (h second (by simp)).2,
    List.forall_mem_singleton.mpr (entryOf_wellFormed (h third (by simp)).1 (h third (by simp)).2)⟩

theorem yieldsInfos_sameTwice : (codecsOf "01" "01" "02").YieldsInfos :=
  (yieldsInfos_iff (codecsOf_wellFormed (by decide))).mpr (by decide)

/-- The second of three codecs is read as the first. -/
theorem threeCodecs_not_yieldsInfos : ¬ (codecsOf "01" "02" "04").YieldsInfos := by
  rw [yieldsInfos_iff_read (codecsOf_wellFormed (by decide))]
  decide

end VideoFormatsValue

end WifiDisplay
